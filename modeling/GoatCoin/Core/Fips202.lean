/-
# `GoatCoin.Core.Fips202` — the inline digest is SHA3-256

`state[x + 5 y]` is the lane `(x, y)`.  Under this reading the five passes of
`keccak_f` are the five step mappings of the standard: the chase through
`KECCAK_PI` is π after ρ, the tables `KECCAK_RHO` and `KECCAK_RC` hold the
offsets of the walk and the words of the shift register.  A last block of the
sponge is the rest of the input with its padding, so the two sponges absorb the
same blocks.
-/
import GoatCoin.Lib.Keccak
import GoatCoin.Core.Sha3Eval

namespace GoatCoin

open Wire

/-! ## The lanes in coordinates -/

/-- Lane `(x, y)` of the array. -/
def coords (s : Lanes) : Keccak.State := fun x y => (s[x.val + 5 * y.val]).toBitVec

theorem coords_at (s : Lanes) {x y : Fin 5} {i : Nat} (hi : i < 25) (h : x.val + 5 * y.val = i) :
    (s[i]).toBitVec = coords s x y := by
  subst h
  rfl

theorem toBitVec_rotateLeft (w : UInt64) (r : Nat) :
    (rotateLeft w r).toBitVec = w.toBitVec.rotateLeft r := rfl

theorem rotateLeft_zero (w : BitVec 64) : w.rotateLeft 0 = w := by
  have hout : w >>> 64 = 0#64 := BitVec.ushiftRight_eq_zero (Nat.le_refl 64)
  rw [BitVec.rotateLeft_def, Nat.zero_mod, Nat.sub_zero, BitVec.shiftLeft_zero,
    hout, BitVec.or_zero]

/-! ## θ, χ and ι -/

theorem val_sub_one (x : Fin 5) : (x - 1).val = (x.val + 4) % 5 := by
  revert x
  decide

theorem coords_theta (s : Lanes) : coords (theta s) = Keccak.theta (coords s) := by
  funext x y
  have hcolumn : (x.val + 5 * y.val) % 5 = x.val := by omega
  -- the parity of column `x'`, read from the array at its five places
  have hparity : ∀ (x' : Fin 5) (i : Nat) (hi : i < 5), x'.val = i →
      (s[i] ^^^ s[i + 5] ^^^ s[i + 10] ^^^ s[i + 15] ^^^ s[i + 20]).toBitVec
      = Keccak.column (coords s) x' := by
    intro x' i hi h
    subst h
    rfl
  show (theta s)[x.val + 5 * y.val].toBitVec = _
  simp only [theta, Vector.getElem_ofFn, UInt64.toBitVec_xor, toBitVec_rotateLeft]
  have hprev :=
    hparity (x - 1) (((x.val + 5 * y.val) % 5 + 4) % 5) (by omega) (by rw [val_sub_one, hcolumn])
  have hnext :=
    hparity (x + 1) (((x.val + 5 * y.val) % 5 + 1) % 5) (by omega)
      (by rw [hcolumn]; exact Fin.val_add x 1)
  simp only [UInt64.toBitVec_xor] at hprev hnext
  rw [hprev, hnext]
  rfl

theorem coords_chi (s : Lanes) : coords (chi s) = Keccak.chi (coords s) := by
  funext x y
  have hrow : (x.val + 5 * y.val) / 5 = y.val := by omega
  have hcolumn : (x.val + 5 * y.val) % 5 = x.val := by omega
  have hone : (x + 1).val = (x.val + 1) % 5 := Fin.val_add x 1
  have htwo : (x + 2).val = (x.val + 2) % 5 := Fin.val_add x 2
  show (chi s)[x.val + 5 * y.val].toBitVec = _
  simp only [chi, Vector.getElem_ofFn, UInt64.toBitVec_xor, UInt64.toBitVec_and,
    UInt64.toBitVec_not]
  have hnext : (s[5 * ((x.val + 5 * y.val) / 5) + ((x.val + 5 * y.val) % 5 + 1) % 5]).toBitVec
    = coords s (x + 1) y :=
    coords_at s (by omega) (by rw [hrow, hcolumn, hone, Nat.add_comm])
  have hafter : (s[5 * ((x.val + 5 * y.val) / 5) + ((x.val + 5 * y.val) % 5 + 2) % 5]).toBitVec
    = coords s (x + 2) y :=
    coords_at s (by omega) (by rw [hrow, hcolumn, htwo, Nat.add_comm])
  rw [hnext, hafter]
  rfl

theorem coords_iota (s : Lanes) {w : UInt64} {ir : Nat} (h : w.toBitVec = Keccak.roundConstant ir) :
    coords (iota s w) = Keccak.iota (coords s) ir := by
  funext x y
  show (iota s w)[x.val + 5 * y.val].toBitVec = _
  unfold iota Keccak.iota
  rw [Vector.getElem_set]
  by_cases horigin : x = 0 ∧ y = 0
  · obtain ⟨rfl, rfl⟩ := horigin
    show (s[0] ^^^ w).toBitVec = coords s 0 0 ^^^ Keccak.roundConstant ir
    rw [UInt64.toBitVec_xor, h]
    rfl
  · have hne : 0 ≠ x.val + 5 * y.val := by
      intro h0
      exact horigin ⟨Fin.ext (by show x.val = 0; omega), Fin.ext (by show y.val = 0; omega)⟩
    rw [if_neg hne, if_neg horigin]
    rfl

/-! ## ρ and π -/

/-- The tables hold, for every lane but the origin, the lane π takes it from and
the offset ρ turns that one by. -/
theorem moves_table : ∀ x y : Fin 5, (x = 0 ∧ y = 0) ∨
    ∃ m ∈ moves 1 (keccakPi.zip keccakRho), m.2.1.val = x.val + 5 * y.val
      ∧ m.1.val = (x + 3 * y).val + 5 * x.val ∧ m.2.2 = Keccak.offset (x + 3 * y) x % 64 := by
  decide +kernel

theorem coords_rhoPi (s : Lanes) : coords (rhoPi s) = Keccak.pi (Keccak.rho (coords s)) := by
  funext x y
  show coords (rhoPi s) x y = (coords s (x + 3 * y) x).rotateLeft (Keccak.offset (x + 3 * y) x)
  rcases moves_table x y with ⟨rfl, rfl⟩ | ⟨⟨i, j, r⟩, hmove, hto, hfrom, (hturn : r = _)⟩
  · have hoffset : Keccak.offset (0 + 3 * 0) 0 % 64 = 0 := by decide +kernel
    have hstay : coords (rhoPi s) 0 0 = coords s 0 0 := congrArg UInt64.toBitVec (rhoPi_origin s)
    rw [hstay, ← BitVec.rotateLeft_mod_eq_rotateLeft, hoffset]
    exact (rotateLeft_zero _).symm
  · have hlane : (rhoPi s)[j.val] = rotateLeft s[i.val] r := rhoPi_moves s hmove
    calc coords (rhoPi s) x y = ((rhoPi s)[j.val]).toBitVec := (coords_at _ j.isLt hto.symm).symm
      _ = (s[i.val].toBitVec).rotateLeft r := by rw [hlane, toBitVec_rotateLeft]
      _ = (coords s (x + 3 * y) x).rotateLeft (Keccak.offset (x + 3 * y) x) := by
          rw [hturn, BitVec.rotateLeft_mod_eq_rotateLeft, coords_at s i.isLt hfrom.symm]

/-! ## The permutation -/

/-- `KECCAK_RC` is what the shift register gives. -/
theorem keccakRc_eq :
    keccakRc = (List.range 24).map fun ir => UInt64.ofBitVec (Keccak.roundConstant ir) := by
  decide +kernel

theorem coords_keccakRound (s : Lanes) (ir : Nat) :
    coords (keccakRound s (UInt64.ofBitVec (Keccak.roundConstant ir)))
    = Keccak.round (coords s) ir := by
  unfold keccakRound Keccak.round
  have hword : (UInt64.ofBitVec (Keccak.roundConstant ir)).toBitVec = Keccak.roundConstant ir := rfl
  rw [coords_iota _ hword, coords_chi, coords_rhoPi, coords_theta]

theorem coords_keccakF (s : Lanes) : coords (keccakF s) = Keccak.permutation (coords s) := by
  have hrounds : ∀ (irs : List Nat) (s : Lanes),
      coords ((irs.map fun ir => UInt64.ofBitVec (Keccak.roundConstant ir)).foldl keccakRound s)
        = irs.foldl Keccak.round (coords s) := by
    intro irs
    induction irs with
    | nil =>
        intro s
        rfl
    | cons ir irs ih =>
        intro s
        rw [List.map_cons, List.foldl_cons, List.foldl_cons, ih, coords_keccakRound]
  unfold keccakF Keccak.permutation
  rw [keccakRc_eq, hrounds]

/-! ## The sponge -/

theorem word_of_block {block : List UInt8} (hlen : block.length = 136) (i : Nat) :
    ofLE (((block ++ List.replicate 64 0).drop (8 * i)).take 8)
      = if i < 17 then ofLE ((block.drop (i * 8)).take 8) else 0 := by
  split
  · case isTrue hi =>
      have hinside : 8 ≤ (block.drop (8 * i)).length := by
        rw [List.length_drop]
        omega
      rw [List.drop_append_of_le_length (by omega), List.take_append_of_le_length hinside,
        Nat.mul_comm]
  · case isFalse hi =>
      have houtside : block.length ≤ 8 * i := by omega
      rw [List.drop_append, List.drop_eq_nil_of_le houtside, List.nil_append, List.drop_replicate,
        List.take_replicate]
      exact Sha3Eval.ofLE_append_zeros [] _

theorem coords_keccakAbsorb (s : Lanes) {block : List UInt8} (hlen : block.length = sha3Rate) :
    coords (keccakAbsorb s block) = Keccak.absorbBlock (coords s) block := by
  unfold keccakAbsorb Keccak.absorbBlock
  rw [coords_keccakF]
  refine congrArg Keccak.permutation ?_
  funext x y
  have hsheet : Keccak.sheet (block ++ List.replicate (200 - Keccak.rate) 0) x y
      = BitVec.ofNat 64
        (if x.val + 5 * y.val < 17 then ofLE ((block.drop ((x.val + 5 * y.val) * 8)).take 8)
        else 0) :=
    congrArg (BitVec.ofNat 64) (word_of_block hlen _)
  rw [hsheet]
  unfold coords
  rw [Vector.getElem_ofFn]
  by_cases hlane : x.val + 5 * y.val < 17
  · simp only [if_pos hlane]
    rw [UInt64.toBitVec_xor]
    rfl
  · simp only [if_neg hlane]
    exact BitVec.xor_zero.symm

theorem coords_absorbBlocks : ∀ (n : Nat) (s : Lanes) (pre : List UInt8),
    pre.length = n * sha3Rate →
    coords (absorbBlocks n s pre).1 = (Keccak.blocks pre).foldl Keccak.absorbBlock (coords s)
  | 0, s, pre, hpre => by
      rw [Nat.zero_mul] at hpre
      rw [List.eq_nil_of_length_eq_zero hpre]
      rfl
  | n + 1, s, pre, hpre => by
      rw [Nat.succ_mul] at hpre
      have hhead : (pre.take sha3Rate).length = sha3Rate := by
        rw [List.length_take, Nat.min_eq_left (by omega)]
      have htail : (pre.drop sha3Rate).length = n * sha3Rate := by
        rw [List.length_drop, hpre, Nat.add_sub_cancel]
      have hblocks :
        Keccak.blocks pre = pre.take sha3Rate :: Keccak.blocks (pre.drop sha3Rate) := by
        conv_lhs => rw [← List.take_append_drop sha3Rate pre]
        exact Keccak.blocks_append hhead _
      show coords (absorbBlocks n (keccakAbsorb s (pre.take sha3Rate)) (pre.drop sha3Rate)).1 = _
      rw [coords_absorbBlocks n _ _ htail, coords_keccakAbsorb s hhead, hblocks, List.foldl_cons]

theorem modify_last {α : Type} (f : α → α) (a : α) (l : List α) :
    (l ++ [a]).modify l.length f = l ++ [f a] := by
  induction l with
  | nil => rfl
  | cons b l ih =>
      show b :: (l ++ [a]).modify l.length f = _
      rw [ih]
      rfl

/-- The last block is the rest of the input and its padding: the two marks are
one byte when the rest leaves room for no more. -/
theorem padBlock_eq {rest : List UInt8} (h : rest.length < 136) :
    padBlock rest = rest ++ Keccak.pad rest.length := by
  have hmod : rest.length % 136 = rest.length := Nat.mod_eq_of_lt h
  show (rest ++ 0x06 :: List.replicate (135 - rest.length) 0).modify 135 (· ||| 0x80)
    = rest ++ if 136 - rest.length % 136 = 1 then [0x86]
      else 0x06 :: List.replicate (136 - rest.length % 136 - 2) 0 ++ [0x80]
  rw [hmod]
  by_cases hfull : 136 - rest.length = 1
  · have hplace : rest.length = 135 := by omega
    have hlast := modify_last (· ||| 0x80) (0x06 : UInt8) rest
    rw [hplace] at hlast ⊢
    exact hlast
  · have hroom : 135 - rest.length = (136 - rest.length - 2) + 1 := by omega
    have hplace : (rest ++ 0x06 :: List.replicate (136 - rest.length - 2) 0).length = 135 := by
      rw [List.length_append, List.length_cons, List.length_replicate]
      omega
    have hlast :=
      modify_last (· ||| 0x80) (0 : UInt8)
        (rest ++ 0x06 :: List.replicate (136 - rest.length - 2) 0)
    rw [hplace, List.append_assoc, List.append_assoc] at hlast
    rw [if_neg hfull, hroom, List.replicate_succ']
    exact hlast

theorem squeeze32_eq (s : Lanes) : (squeeze32 s).toList = (Keccak.string (coords s)).take 32 := by
  obtain ⟨A, hA⟩ : ∃ A, coords s = A := ⟨_, rfl⟩
  have hfive : List.finRange 5 = [0, 1, 2, 3, 4] := by decide
  have hstring :
    Keccak.string A = (toLE 8 (A 0 0).toNat ++ toLE 8 (A 1 0).toNat ++ toLE 8 (A 2 0).toNat
      ++ toLE 8 (A 3 0).toNat) ++ (toLE 8 (A 4 0).toNat
      ++ [1, 2, 3, 4].flatMap fun y => [0, 1, 2, 3, 4].flatMap fun x => toLE 8 (A x y).toNat) := by
    unfold Keccak.string
    rw [hfive]
    simp only [List.flatMap_cons, List.flatMap_nil, List.append_assoc, List.append_nil]
  rw [hA, hstring, List.take_left' (by simp), ← hA]
  rfl

/-- The inline digest is the standard's, on every input. -/
theorem sha3_256_eq_fips202 (input : List UInt8) :
    (sha3_256 input).toList = Keccak.sha3_256 input := by
  have hdiv : input.length / 136 * 136 ≤ input.length := Nat.div_mul_le_self _ _
  obtain ⟨pre, hpre⟩ : ∃ pre, input.take (input.length / 136 * 136) = pre := ⟨_, rfl⟩
  obtain ⟨rest, hrest⟩ : ∃ rest, input.drop (input.length / 136 * 136) = rest := ⟨_, rfl⟩
  have hinput : pre ++ rest = input := by rw [← hpre, ← hrest, List.take_append_drop]
  have hprelen : pre.length = input.length / 136 * 136 := by
    rw [← hpre, List.length_take, Nat.min_eq_left hdiv]
  have hrestlen : rest.length = input.length % 136 := by
    rw [← hrest, List.length_drop]
    omega
  have hshort : rest.length < 136 := by
    rw [hrestlen]
    exact Nat.mod_lt _ (by decide)
  -- the padded message is the whole blocks and the last one
  have hpad : Keccak.pad input.length = Keccak.pad rest.length := by
    unfold Keccak.pad
    rw [hrestlen, Nat.mod_mod]
  have hlastlen : (padBlock rest).length = 136 := by
    have hroom : rest.length + (136 - rest.length) = 136 := by omega
    rw [padBlock_eq hshort, List.length_append, Keccak.length_pad, Nat.mod_eq_of_lt hshort]
    exact hroom
  have hmessage : input ++ Keccak.pad input.length = pre ++ padBlock rest := by
    rw [padBlock_eq hshort, hpad, ← List.append_assoc, hinput]
  have hblocks : Keccak.blocks (pre ++ padBlock rest) = Keccak.blocks pre ++ [padBlock rest] :=
    Keccak.blocks_append_last hlastlen _ pre hprelen
  have hzero : coords (Vector.replicate 25 0) = fun _ _ => 0 := by
    funext x y
    unfold coords
    rw [Vector.getElem_replicate]
    rfl
  have hloop : absorbBlocks (input.length / 136) (Vector.replicate 25 0) input
      = ((absorbBlocks (input.length / 136) (Vector.replicate 25 0) pre).1, rest) := by
    have happend :=
      Sha3Eval.absorbBlocks_append (input.length / 136) (Vector.replicate 25 0) rest hprelen
    rwa [hinput] at happend
  have hstate := coords_absorbBlocks (input.length / 136) (Vector.replicate 25 0) pre hprelen
  unfold Keccak.sha3_256 Keccak.absorb
  rw [hmessage, hblocks, List.foldl_append, List.foldl_cons, List.foldl_nil, ← hzero, ← hstate,
    ← coords_keccakAbsorb _ hlastlen, ← squeeze32_eq, sha3_256, hloop]

end GoatCoin
