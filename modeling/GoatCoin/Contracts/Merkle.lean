/-
# `GoatCoin.Contracts.Merkle` — `keccak256`, ABI words and `MerkleProof.sol`

    keccak256     the sponge of `Core.Sha3`, padded with 0x01 … 0x80
    abi.encode    one 32-byte big-endian word for each argument
    verify        the leaf, hashed with each element of the proof in turn, is the root

A pair is hashed in sorted order, so a proof carries no directions.
-/
import GoatCoin.Lib.Evm
import GoatCoin.Core.Sha3Eval

namespace GoatCoin

open Evm Wire

/-- The padded final block: `rest ‖ 0x01 ‖ 0…`, with `0x80` set in the last byte. -/
def keccakPadBlock (rest : List UInt8) : List UInt8 :=
  (rest ++ 0x01 :: List.replicate (sha3Rate - 1 - rest.length) 0).modify (sha3Rate - 1) (· ||| 0x80)

/-- The word with the given big-endian bytes. -/
def wordOfBytes (bytes : List UInt8) : Bytes32 :=
  Fin.ofNat (2 ^ 256) (ofLE bytes.reverse)

/-- Irreducible: no proof looks inside. -/
@[irreducible] def keccak256 (input : List UInt8) : Bytes32 :=
  let (state, rest) := absorbBlocks (input.length / sha3Rate) (Vector.replicate 25 0) input
  wordOfBytes (squeeze32 (keccakAbsorb state (keccakPadBlock rest))).toList

open Sha3Eval in
/-- The digest of `n` blocks and some bytes more. -/
theorem keccak256_blocks {input : List UInt8} (n : Nat) (hle : n * sha3Rate ≤ input.length)
    (hlt : input.length < (n + 1) * sha3Rate) :
    keccak256 input = wordOfBytes (forceNat (absorbN (absorbed n (input.take (n * sha3Rate)))
      (keccakPadBlock (input.drop (n * sha3Rate)))) squeezeN) := by
  have hblocks : input.length / sha3Rate = n := by
    refine Nat.div_eq_of_lt_le hle ?_
    exact hlt
  have hpre : (input.take (n * sha3Rate)).length = n * sha3Rate := List.length_take_of_le hle
  have hsplit := absorbBlocks_append n (Vector.replicate 25 0) (input.drop (n * sha3Rate)) hpre
  rw [List.take_append_drop] at hsplit
  have hdef : keccak256 input = wordOfBytes (squeeze32 (keccakAbsorb
      (absorbBlocks n (Vector.replicate 25 0) (input.take (n * sha3Rate))).1
      (keccakPadBlock (input.drop (n * sha3Rate))))).toList := by
    unfold keccak256
    rw [hblocks, hsplit]
  rw [hdef, forceNat_eq]
  exact congrArg wordOfBytes ((packs_absorbed n _).absorb _).squeeze

open Sha3Eval in
/-- The state after a message, the message one numeral with its padding. -/
noncomputable def keccakN (input : List UInt8) : Nat :=
  forceNat (ofLE (input ++ [1])) fun m =>
    forceNat (Nat.div (Nat.log2 m) 1088) fun n =>
      spongeN n 0 (Nat.lor m (Nat.shiftLeft 0x80 (Nat.mul 8 (Nat.add (Nat.mul n 136) 135))))

theorem log2_message (input : List UInt8) : (ofLE (input ++ [1])).log2 = 8 * input.length := by
  have hsum : ofLE (input ++ [1]) = ofLE input + 2 ^ (8 * input.length) := by
    induction input with
    | nil => rfl
    | cons b bs ih =>
        rw [List.cons_append, ofLE, ih, ofLE, List.length_cons, Nat.mul_succ, Nat.pow_add]
        ring
  have hlt : ofLE input < 2 ^ (8 * input.length) := by
    rw [Nat.pow_mul]
    exact ofLE_lt input
  rw [hsum, Nat.log2_eq_iff (by omega), Nat.pow_succ]
  omega

theorem length_keccakPadBlock {rest : List UInt8} (h : rest.length < sha3Rate) :
    (keccakPadBlock rest).length = sha3Rate := by
  rw [keccakPadBlock, List.length_modify, List.length_append, List.length_cons,
    List.length_replicate]
  omega

theorem modify_append_right (f : UInt8 → UInt8) (pre l : List UInt8) (i : Nat) :
    (pre ++ l).modify (pre.length + i) f = pre ++ l.modify i f := by
  induction pre with
  | nil => rw [List.length_nil, Nat.zero_add, List.nil_append, List.nil_append]
  | cons b bs ih =>
      rw [List.length_cons, Nat.succ_add, List.cons_append, List.modify_succ_cons, ih,
        List.cons_append]

open Sha3Eval in
theorem ofLE_keccakPadBlock {pre rest : List UInt8} (hrest : rest.length < sha3Rate) :
    ofLE (pre ++ keccakPadBlock rest) = ofLE (pre ++ rest ++ [1]) ||| 0x80
    <<< (8 * (pre.length + 135)) := by
  have hzeros : pre ++ (rest ++ 1 :: List.replicate (sha3Rate - 1 - rest.length) 0)
      = pre ++ rest ++ [1] ++ List.replicate (sha3Rate - 1 - rest.length) 0 := by simp
  have hmodify : pre ++ keccakPadBlock rest
      = (pre ++ (rest ++ 1 :: List.replicate (sha3Rate - 1 - rest.length) 0)).modify
        (pre.length + 135) (· ||| 0x80) := by
    rw [modify_append_right]
    rfl
  have hlen : pre.length + 135
      < (pre ++ (rest ++ 1 :: List.replicate (sha3Rate - 1 - rest.length) 0)).length := by
    simp [sha3Rate] at *
    omega
  rw [hmodify, ofLE_modify_or _ hlen, hzeros, ofLE_append_zeros]
  rfl

open Sha3Eval in
theorem keccak256_eval (input : List UInt8) :
    keccak256 input = wordOfBytes (forceNat (keccakN input) squeezeN) := by
  obtain ⟨n, hn⟩ : ∃ n, input.length / sha3Rate = n := ⟨_, rfl⟩
  have hle : n * sha3Rate ≤ input.length := hn ▸ Nat.div_mul_le_self _ _
  have hlt : input.length < (n + 1) * sha3Rate := by
    rw [← hn]
    exact Nat.lt_mul_of_div_lt (Nat.lt_succ_self _) (by decide)
  have hpre : (input.take (n * sha3Rate)).length = n * sha3Rate := List.length_take_of_le hle
  have hrest : (input.drop (n * sha3Rate)).length < sha3Rate := by
    rw [List.length_drop]
    rw [Nat.succ_mul] at hlt
    omega
  have hblocks : Nat.div (Nat.log2 (ofLE (input ++ [1]))) 1088 = n := by
    rw [log2_message, ← hn]
    exact Nat.mul_div_mul_left input.length sha3Rate (show 0 < 8 by decide)
  have hpadded :
    Nat.lor (ofLE (input ++ [1])) (Nat.shiftLeft 0x80 (Nat.mul 8 (Nat.add (Nat.mul n 136) 135)))
      = ofLE (input.take (n * sha3Rate) ++ keccakPadBlock (input.drop (n * sha3Rate))) := by
    rw [ofLE_keccakPadBlock hrest, List.take_append_drop, hpre]
    rfl
  have hlength : (input.take (n * sha3Rate) ++ keccakPadBlock (input.drop (n * sha3Rate))).length
      = (n + 1) * sha3Rate := by
    rw [List.length_append, hpre, length_keccakPadBlock hrest, Nat.succ_mul]
  rw [keccak256_blocks n hle hlt, keccakN, forceNat_eq (ofLE _), hblocks, forceNat_eq n, hpadded,
    spongeN_ofLE n 0 hlength, List.take_left' hpre, List.drop_left' hpre]
  rfl

example : keccak256 [] = 0xc5d2460186f7233c927e7db2dcc703c0e500b653ca82273b7bfad8045d85a470 := by
  rw [keccak256_eval]
  decide +kernel

/-- The 32 big-endian bytes of a word. -/
def abiWord (n : Nat) : List UInt8 := (toLE 32 n).reverse

theorem length_abiWord (n : Nat) : (abiWord n).length = 32 := by
  rw [abiWord, List.length_reverse, length_toLE]

/-- `Hashes.commutativeKeccak256`. -/
def commutativeKeccak256 (a b : Bytes32) : Bytes32 :=
  if a < b then keccak256 (abiWord a.val ++ abiWord b.val)
  else keccak256 (abiWord b.val ++ abiWord a.val)

namespace MerkleProof

def processProof (proof : List Bytes32) (leaf : Bytes32) : Bytes32 :=
  proof.foldl commutativeKeccak256 leaf

/-- The proof leads to this root. -/
def verify (proof : List Bytes32) (root leaf : Bytes32) : Bool := processProof proof leaf == root

theorem verify_nil (leaf : Bytes32) : verify [] leaf leaf = true := beq_self_eq_true leaf

theorem verify_singleton {sibling root leaf : Bytes32} :
    verify [sibling] root leaf = true ↔ commutativeKeccak256 leaf sibling = root := beq_iff_eq

end MerkleProof

end GoatCoin
