/-
# `GoatCoin.Lib.Fragments` — a string cut into pieces and put together again

A string `L` is cut into pieces of `w` elements, the last one possibly shorter.
The pieces are written back into a buffer of the length of `L`, in any order and
any of them more than once.  `Holds w L S buf` says how far that has come: the
buffer agrees with `L` wherever the piece is in `S`.

    position k  lies in piece  k / w

so the whole argument is about positions: a piece that is written changes only
the positions of that piece, and once every piece is there the buffer is `L`.
-/
import Mathlib.Data.List.Basic

namespace Fragments

/-- How many pieces of `w` there are in `n`. -/
def count (w n : Nat) : Nat := (n + w - 1) / w

theorem lt_count_iff {w n i : Nat} (hw : 0 < w) : i < count w n ↔ i * w < n := by
  rw [count, Nat.lt_div_iff_mul_lt hw]
  omega

section
variable {α : Type}

/-- Piece `i` of `L`. -/
def piece (w : Nat) (L : List α) (i : Nat) : List α := (L.drop (i * w)).take w

/-- All pieces, in order. -/
def chunks (w : Nat) (L : List α) : List (List α) :=
  (List.range (count w L.length)).map (piece w L)

theorem length_piece (w : Nat) (L : List α) (i : Nat) :
    (piece w L i).length = min (L.length - i * w) w := by
  rw [piece, List.length_take, List.length_drop, Nat.min_comm]

variable {i k w start : Nat} {S : Nat → Prop}

theorem getElem?_piece {L : List α} (h : k < w) :
    (piece w L i)[k]? = L[i * w + k]? := by
  rw [piece, List.getElem?_take_of_lt h, List.getElem?_drop]

/-- Overwrite from position `start`. -/
def write (buf : List α) (start : Nat) (xs : List α) : List α :=
  buf.take start ++ xs ++ buf.drop (start + xs.length)

theorem length_write {buf xs : List α} (h : start + xs.length ≤ buf.length) :
    (write buf start xs).length = buf.length := by
  simp only [write, List.length_append, List.length_take, List.length_drop]
  omega

theorem getElem?_write_of_mem {buf xs : List α} (hle : start ≤ buf.length)
    (hk : start ≤ k) (hk' : k < start + xs.length) : (write buf start xs)[k]? = xs[k - start]? := by
  have hlen : (buf.take start).length = start := by
    rw [List.length_take, Nat.min_eq_left hle]
  rw [write, List.append_assoc, List.getElem?_append_right (by rw [hlen]; exact hk), hlen,
    List.getElem?_append_left (by omega)]

theorem getElem?_write_of_notMem {buf xs : List α}
    (h : start + xs.length ≤ buf.length) (hk : k < start ∨ start + xs.length ≤ k) :
    (write buf start xs)[k]? = buf[k]? := by
  have hlen : (buf.take start).length = start := by
    rw [List.length_take]
    omega
  rw [write, List.append_assoc]
  rcases hk with hk | hk
  · rw [List.getElem?_append_left (by rw [hlen]; exact hk), List.getElem?_take_of_lt hk]
  · rw [List.getElem?_append_right (by rw [hlen]; omega), hlen,
      List.getElem?_append_right (by omega), List.getElem?_drop]
    congr 1
    omega

/-! ## Putting the pieces together -/

/-- The buffer agrees with `L` on the pieces of `S`. -/
structure Holds (w : Nat) (L : List α) (S : Nat → Prop) (buf : List α) : Prop where
  length_eq : buf.length = L.length
  agree : ∀ k < L.length, S (k / w) → buf[k]? = L[k]?

theorem Holds.of_none {L buf : List α} (h : buf.length = L.length) :
    Holds w L (fun _ => False) buf :=
  ⟨h, fun _ _ h => h.elim⟩

theorem Holds.congr {L buf : List α} {T : Nat → Prop} (h : Holds w L S buf)
    (hST : ∀ i, T i → S i) : Holds w L T buf :=
  ⟨h.length_eq, fun k hk hT => h.agree k hk (hST _ hT)⟩

theorem write_fits {L buf : List α} (hbuf : buf.length = L.length)
    (hi : i * w < L.length) : i * w + (piece w L i).length ≤ buf.length := by
  rw [length_piece, hbuf]
  omega

theorem Holds.write {L buf : List α} (hw : 0 < w)
    (h : Holds w L S buf) (hi : i * w < L.length) :
    Holds w L (fun j => S j ∨ j = i) (write buf (i * w) (piece w L i)) := by
  have hfits := write_fits h.length_eq hi
  have hlen := length_piece w L i
  refine ⟨(length_write hfits).trans h.length_eq, ?_⟩
  intro k hk hS
  by_cases hki : k / w = i
  · have hlo : i * w ≤ k := by rw [← hki]; exact Nat.div_mul_le_self k w
    have hhi : k < i * w + w := by rw [← hki]; exact Nat.lt_div_mul_add hw
    rw [getElem?_write_of_mem (by omega) hlo (by omega), getElem?_piece (by omega)]
    congr 1
    omega
  · have hout : k < i * w ∨ i * w + (piece w L i).length ≤ k := by
      by_contra hin
      refine hki (Nat.div_eq_of_lt_le ?_ ?_)
      · omega
      · rw [Nat.succ_mul]
        omega
    rw [getElem?_write_of_notMem hfits hout]
    exact h.agree k hk (hS.resolve_right hki)

/-- With every piece there, the buffer is the string. -/
theorem Holds.eq {L buf : List α} (hw : 0 < w) (h : Holds w L S buf)
    (hall : ∀ i < count w L.length, S i) : buf = L := by
  apply List.ext_getElem?
  intro k
  by_cases hk : k < L.length
  · refine h.agree k hk (hall _ ((lt_count_iff hw).mpr ?_))
    exact Nat.lt_of_le_of_lt (Nat.div_mul_le_self k w) hk
  · rw [List.getElem?_eq_none (by rw [h.length_eq]; omega), List.getElem?_eq_none (by omega)]

end

end Fragments
