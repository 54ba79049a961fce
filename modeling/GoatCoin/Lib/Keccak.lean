/-
# `GoatCoin.Lib.Keccak` — SHA3-256 as FIPS 202 writes it

The state is the 5 × 5 sheet of 64-bit lanes `A x y`, the coordinates modulo 5.
The five step mappings are given in these coordinates, the rotation offsets by
the walk of ρ and the round constants by the shift register of ι; the sponge has
1088 bits of rate, and its padded message is a list of 136-byte blocks.
-/
import Mathlib.Data.List.FinRange
import GoatCoin.Lib.Wire

namespace Keccak

open Wire

/-- Lane `(x, y)`; bit `z` of a lane is its bit of weight `2 ^ z`. -/
abbrev State := Fin 5 → Fin 5 → BitVec 64

/-! ## The step mappings -/

/-- The parity of the column `x`. -/
def column (A : State) (x : Fin 5) : BitVec 64 := A x 0 ^^^ A x 1 ^^^ A x 2 ^^^ A x 3 ^^^ A x 4

def theta (A : State) : State := fun x y =>
  A x y ^^^ (column A (x - 1) ^^^ (column A (x + 1)).rotateLeft 1)

/-- The lanes other than the origin, in the order in which ρ meets them. -/
def walk : Nat → Fin 5 × Fin 5
  | 0 => (1, 0)
  | t + 1 => ((walk t).2, 2 * (walk t).1 + 3 * (walk t).2)

/-- The lane met at step `t` of the walk is turned by `(t + 1)(t + 2)/2`. -/
def offset (x y : Fin 5) : Nat :=
  match (List.range 24).find? fun t => walk t = (x, y) with
  | some t => (t + 1) * (t + 2) / 2
  | none => 0

def rho (A : State) : State := fun x y => (A x y).rotateLeft (offset x y)

def pi (A : State) : State := fun x y => A (x + 3 * y) x

def chi (A : State) : State := fun x y => A x y ^^^ (~~~ A (x + 1) y &&& A (x + 2) y)

/-- The register `R` after `t` steps, `R[i]` its bit of weight `2 ^ i`: one step
moves every bit up and adds the bit that falls out to `R[0]`, `R[4]`, `R[5]`
and `R[6]`. -/
def register : Nat → BitVec 8
  | 0 => 1
  | t + 1 => (register t <<< 1) ^^^ (if (register t).msb then 0x71 else 0)

def rc (t : Nat) : Bool := (register (t % 255)).getLsbD 0

/-- Bit `2 ^ j - 1` of the constant of round `ir` is `rc (j + 7 ir)`. -/
def roundConstant (ir : Nat) : BitVec 64 :=
  (List.range 7).foldl
    (fun RC j => RC ||| if rc (j + 7 * ir) then BitVec.twoPow 64 (2 ^ j - 1) else 0) 0

def iota (A : State) (ir : Nat) : State := fun x y =>
  if x = 0 ∧ y = 0 then A x y ^^^ roundConstant ir else A x y

def round (A : State) (ir : Nat) : State := iota (chi (pi (rho (theta A)))) ir

def permutation (A : State) : State := (List.range 24).foldl round A

/-! ## The sponge -/

/-- Rate in bytes. -/
abbrev rate : Nat := 136

/-- The byte string as a sheet: lane `(x, y)` is its word `x + 5 y`, little-endian. -/
def sheet (bytes : List UInt8) : State := fun x y =>
  BitVec.ofNat 64 (ofLE ((bytes.drop (8 * (x.val + 5 * y.val))).take 8))

/-- The lanes of a sheet in order, as bytes. -/
def string (A : State) : List UInt8 :=
  (List.finRange 5).flatMap fun y => (List.finRange 5).flatMap fun x => toLE 8 (A x y).toNat

/-- The capacity part of a block is zero. -/
def absorbBlock (A : State) (block : List UInt8) : State :=
  permutation fun x y => A x y ^^^ sheet (block ++ List.replicate (200 - rate) 0) x y

/-- The bits `01`, then `10…01` up to a whole number of blocks, for a message of
`n` bytes. -/
def pad (n : Nat) : List UInt8 :=
  if rate - n % rate = 1 then [0x86]
  else 0x06 :: List.replicate (rate - n % rate - 2) 0 ++ [0x80]

/-- The blocks of a padded message, in order. -/
def blocks (P : List UInt8) : List (List UInt8) :=
  (List.range (P.length / rate)).map fun i => (P.drop (i * rate)).take rate

def absorb (P : List UInt8) : State := (blocks P).foldl absorbBlock fun _ _ => 0

def sha3_256 (M : List UInt8) : List UInt8 := (string (absorb (M ++ pad M.length))).take 32

/-! ## Blocks -/

theorem length_pad (n : Nat) : (pad n).length = rate - n % rate := by
  have hlt : n % rate < rate := Nat.mod_lt n (by decide)
  unfold pad
  split
  · case isTrue h => simp [h]
  · case isFalse h =>
      simp only [List.length_append, List.length_cons, List.length_replicate, List.length_nil]
      omega

theorem blocks_append {block : List UInt8} (hlen : block.length = rate) (P : List UInt8) :
    blocks (block ++ P) = block :: blocks P := by
  have hcount : (block ++ P).length / rate = P.length / rate + 1 := by
    rw [List.length_append, hlen, Nat.add_div_left _ (by decide)]
  unfold blocks
  rw [hcount, List.range_succ_eq_map, List.map_cons, List.map_map]
  have hhead : List.take rate (List.drop (0 * rate) (block ++ P)) = block := by
    rw [Nat.zero_mul, List.drop_zero, ← hlen, List.take_left]
  have htail : ∀ i, (block ++ P).drop ((i + 1) * rate) = P.drop (i * rate) := by
    intro i
    rw [Nat.add_mul, Nat.one_mul, Nat.add_comm, ← List.drop_drop, ← hlen, List.drop_left]
  rw [hhead]
  refine congrArg (block :: ·) (List.map_congr_left ?_)
  intro i _
  exact congrArg (List.take rate) (htail i)

theorem blocks_append_last {block : List UInt8} (hlen : block.length = rate) :
    ∀ (n : Nat) (P : List UInt8), P.length = n * rate → blocks (P ++ block) = blocks P ++ [block]
  | 0, P, hP => by
      rw [Nat.zero_mul] at hP
      rw [List.eq_nil_of_length_eq_zero hP, List.nil_append]
      have hone := blocks_append hlen []
      rw [List.append_nil] at hone
      exact hone
  | n + 1, P, hP => by
      rw [Nat.succ_mul] at hP
      have hhead : (P.take rate).length = rate := by
        rw [List.length_take, Nat.min_eq_left (by omega)]
      have htail : (P.drop rate).length = n * rate := by
        rw [List.length_drop, hP, Nat.add_sub_cancel]
      have hsplit : P.take rate ++ P.drop rate = P := List.take_append_drop rate P
      rw [← hsplit, List.append_assoc, blocks_append hhead, blocks_append hhead,
        blocks_append_last hlen n _ htail, List.cons_append]

end Keccak
