/-
# `GoatCoin.Core.Sha3` — the inline Keccak of `state.rs`

The state is the array of 25 lanes `[u64; 25]`; lane `(x, y)` of the usual
picture is `state[x + 5 y]`.  One round is θ, ρ∘π fused into one pass that
chases the π-cycle from lane 1, χ row by row, and ι.  The sponge absorbs whole
136-byte blocks while there are any, pads the rest with `0x06 … 0x80`, and reads
the first four lanes.
-/
import Mathlib.Tactic.IntervalCases
import GoatCoin.Lib.Wire
import GoatCoin.Core.Types

namespace GoatCoin

open Wire

/-- `[u64; 25]`. -/
abbrev Lanes := Vector UInt64 25

/-- `u64::rotate_left`. -/
def rotateLeft (x : UInt64) (r : Nat) : UInt64 := ⟨x.toBitVec.rotateLeft r⟩

def keccakRc : List UInt64 :=
  [0x0000000000000001, 0x0000000000008082, 0x800000000000808a, 0x8000000080008000,
   0x000000000000808b, 0x0000000080000001, 0x8000000080008081, 0x8000000000008009,
   0x000000000000008a, 0x0000000000000088, 0x0000000080008009, 0x000000008000000a,
   0x000000008000808b, 0x800000000000008b, 0x8000000000008089, 0x8000000000008003,
   0x8000000000008002, 0x8000000000000080, 0x000000000000800a, 0x800000008000000a,
   0x8000000080008081, 0x8000000000008080, 0x0000000080000001, 0x8000000080008008]

/-- ρ offsets, in the order of the ρ/π chase. -/
def keccakRho : List Nat :=
  [1, 3, 6, 10, 15, 21, 28, 36, 45, 55, 2, 14, 27, 41, 56, 8, 25, 43, 62, 18, 39, 61, 20, 44]

/-- π targets, in the order of the ρ/π chase. -/
def keccakPi : List (Fin 25) :=
  [10, 7, 11, 17, 18, 3, 5, 16, 8, 21, 24, 4, 15, 23, 19, 13, 12, 2, 20, 14, 22, 9, 6, 1]

/-! ## One round -/

/-- Every lane of column `x` is xored with the same word, once. -/
def theta (state : Lanes) : Lanes :=
  let bc : Vector UInt64 5 := .ofFn fun x =>
    state[x.val] ^^^ state[x.val + 5] ^^^ state[x.val + 10] ^^^ state[x.val + 15]
      ^^^ state[x.val + 20]
  .ofFn fun i =>
    state[i.val] ^^^ (bc[(i.val % 5 + 4) % 5] ^^^ rotateLeft bc[(i.val % 5 + 1) % 5] 1)

/-- The loop carries the array and the displaced lane `last`. -/
def rhoPi (state : Lanes) : Lanes :=
  ((keccakPi.zip keccakRho).foldl
    (fun (acc : Lanes × UInt64) (jr : Fin 25 × Nat) =>
      (acc.1.set jr.1 (rotateLeft acc.2 jr.2), acc.1[jr.1]))
    (state, state[1])).1

/-- A row is read whole before it is written. -/
def chi (state : Lanes) : Lanes :=
  .ofFn fun i =>
    state[i.val] ^^^ (~~~ state[5 * (i.val / 5) + (i.val % 5 + 1) % 5]
      &&& state[5 * (i.val / 5) + (i.val % 5 + 2) % 5])

def iota (state : Lanes) (rc : UInt64) : Lanes := state.set 0 (state[0] ^^^ rc)

/-- One round of the permutation. -/
def keccakRound (state : Lanes) (rc : UInt64) : Lanes := iota (chi (rhoPi (theta state))) rc

/-- All rounds of the permutation. -/
def keccakF (state : Lanes) : Lanes := keccakRc.foldl keccakRound state

/-! ## The sponge -/

/-- Rate in bytes. -/
abbrev sha3Rate : Nat := 136

/-- The little-endian word at byte `8 * lane` of a block. -/
def blockWord (block : List UInt8) (lane : Nat) : UInt64 :=
  UInt64.ofNat (ofLE ((block.drop (lane * 8)).take 8))

/-- A block is xored into the first 17 lanes. -/
def keccakAbsorb (state : Lanes) (block : List UInt8) : Lanes :=
  keccakF (.ofFn fun lane : Fin 25 =>
    if lane.val < 17 then state[lane.val] ^^^ blockWord block lane.val else state[lane.val])

/-- `n` iterations of the absorbing loop, with what is left of the input. -/
def absorbBlocks : Nat → Lanes → List UInt8 → Lanes × List UInt8
  | 0, state, rest => (state, rest)
  | n + 1, state, rest =>
      absorbBlocks n (keccakAbsorb state (rest.take sha3Rate)) (rest.drop sha3Rate)

/-- The padded final block: `rest ‖ 0x06 ‖ 0…`, with `0x80` set in the last byte. -/
def padBlock (rest : List UInt8) : List UInt8 :=
  (rest ++ 0x06 :: List.replicate (sha3Rate - 1 - rest.length) 0).modify (sha3Rate - 1) (· ||| 0x80)

/-- The first four lanes, little-endian. -/
def squeeze32 (state : Lanes) : Bytes 32 :=
  ⟨toLE 8 state[0].toNat ++ toLE 8 state[1].toNat ++ toLE 8 state[2].toNat
    ++ toLE 8 state[3].toNat, by simp⟩

/-- SHA3-256.  `while i + RATE <= input.len()` runs `input.len() / RATE` times.
Irreducible: no proof but those about evaluation looks inside. -/
@[irreducible] def sha3_256 (input : List UInt8) : Bytes 32 :=
  let (state, rest) := absorbBlocks (input.length / sha3Rate) (Vector.replicate 25 0) input
  squeeze32 (keccakAbsorb state (padBlock rest))

/-- The lanes of a state as numerals. -/
def lanes (s : Lanes) : List Nat := s.toList.map UInt64.toNat

theorem lanes_eq (s : Lanes) :
    lanes s =
      [s[0].toNat, s[1].toNat, s[2].toNat, s[3].toNat, s[4].toNat, s[5].toNat, s[6].toNat,
       s[7].toNat, s[8].toNat, s[9].toNat, s[10].toNat, s[11].toNat, s[12].toNat, s[13].toNat,
       s[14].toNat, s[15].toNat, s[16].toNat, s[17].toNat, s[18].toNat, s[19].toNat,
       s[20].toNat, s[21].toNat, s[22].toNat, s[23].toNat, s[24].toNat] := by
  refine List.ext_getElem (by simp [lanes]) ?_
  intro i hi _
  have hi : i < 25 := by simpa [lanes] using hi
  have hget : (lanes s)[i]? = some (s[i].toNat) := by simp [lanes, hi]
  rw [List.getElem?_eq_getElem (by simpa [lanes] using hi)] at hget
  rw [Option.some.inj hget]
  interval_cases i <;> rfl

/-! ## The chase

A step of the ρ/π loop writes lane `j` with the lane displaced before it.  Read
over the whole loop, every lane of `KECCAK_PI` receives the lane named before
it, turned; the lane at the origin stays. -/

/-- One iteration: the array and the displaced lane. -/
def chaseStep (acc : Lanes × UInt64) (jr : Fin 25 × Nat) : Lanes × UInt64 :=
  (acc.1.set jr.1 (rotateLeft acc.2 jr.2), acc.1[jr.1])

theorem rhoPi_eq (s : Lanes) :
    rhoPi s = ((keccakPi.zip keccakRho).foldl chaseStep (s, s[1])).1 := rfl

/-- The moves of the loop: from where, to where, and the turn. -/
def moves (src : Fin 25) : List (Fin 25 × Nat) → List (Fin 25 × Fin 25 × Nat)
  | [] => []
  | (j, r) :: jrs => (src, j, r) :: moves j jrs

theorem chase_untouched {i : Fin 25} : ∀ {jrs : List (Fin 25 × Nat)} {acc : Lanes × UInt64},
    (∀ jr ∈ jrs, jr.1 ≠ i) → (jrs.foldl chaseStep acc).1[i] = acc.1[i]
  | [], _, _ => rfl
  | jr :: jrs, acc, h => by
      rw [List.foldl_cons, chase_untouched fun jr' hmem => h jr' (List.mem_cons_of_mem _ hmem)]
      have hne : jr.1.val ≠ i.val := fun heq => h jr List.mem_cons_self (Fin.ext heq)
      exact Vector.getElem_set_ne jr.1.isLt i.isLt hne

/-- The invariant: the lanes still to be written, and the displaced one, are as
they were in `orig`. -/
theorem chase_moves (orig : Lanes) {i j : Fin 25} {r : Nat} :
    ∀ {jrs : List (Fin 25 × Nat)} {src : Fin 25} {s : Lanes},
    (jrs.map Prod.fst).Nodup → (∀ jr ∈ jrs, s[jr.1] = orig[jr.1]) → (i, j, r) ∈ moves src jrs →
    (jrs.foldl chaseStep (s, orig[src])).1[j] = rotateLeft orig[i] r
  | [], _, _, _, _, hmove => nomatch hmove
  | (j', r') :: jrs, src, s, hnodup, hsame, hmove => by
      rw [List.map_cons, List.nodup_cons] at hnodup
      obtain ⟨hfresh, hnodup⟩ := hnodup
      have hlater : ∀ jr ∈ jrs, jr.1 ≠ j' := by
        intro jr hmem heq
        exact hfresh (List.mem_map.mpr ⟨jr, hmem, heq⟩)
      have hdisplaced : s[j'] = orig[j'] := hsame _ List.mem_cons_self
      rw [List.foldl_cons]
      rcases List.mem_cons.mp hmove with heq | hrest
      · obtain ⟨rfl, rfl, rfl⟩ : i = src ∧ j = j' ∧ r = r' := by simpa using heq
        rw [chase_untouched hlater]
        exact Vector.getElem_set_self j.isLt
      · have hkept : ∀ jr ∈ jrs, (s.set j' (rotateLeft orig[src] r'))[jr.1] = orig[jr.1] := by
          intro jr hmem
          have hne : j'.val ≠ jr.1.val := fun heq => hlater jr hmem (Fin.ext heq.symm)
          exact (Vector.getElem_set_ne j'.isLt jr.1.isLt hne).trans
            (hsame jr (List.mem_cons_of_mem _ hmem))
        show (jrs.foldl chaseStep (s.set j' (rotateLeft orig[src] r'), s[j'])).1[j] = _
        rw [hdisplaced]
        exact chase_moves orig hnodup hkept hrest

theorem rhoPi_origin (s : Lanes) : (rhoPi s)[(0 : Fin 25)] = s[(0 : Fin 25)] := by
  have horigin : ∀ jr ∈ keccakPi.zip keccakRho, jr.1 ≠ 0 := by decide
  rw [rhoPi_eq]
  generalize keccakPi.zip keccakRho = jrs at horigin ⊢
  exact chase_untouched horigin

theorem rhoPi_moves (s : Lanes) {i j : Fin 25} {r : Nat}
    (hmove : (i, j, r) ∈ moves 1 (keccakPi.zip keccakRho)) : (rhoPi s)[j] = rotateLeft s[i] r := by
  have hnodup : ((keccakPi.zip keccakRho).map Prod.fst).Nodup := by decide
  rw [rhoPi_eq]
  generalize keccakPi.zip keccakRho = jrs at hnodup hmove ⊢
  exact chase_moves s hnodup (fun _ _ => rfl) hmove

end GoatCoin
