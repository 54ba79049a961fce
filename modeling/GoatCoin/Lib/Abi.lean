/-
# `GoatCoin.Lib.Abi` — decoding the arguments of a call

The arguments of a call are words of 32 bytes, big-endian.  A tuple of them is a head and a tail:

    value type       its word, in the head; what does not fit the type is refused
    `bytes`, tuple   an offset in the head, from where the tuple begins, to what is in the tail
    `bytes`          the length, and so many bytes

`Takes p bs a` says that the decoder `p` reads `a` off the front of `bs`, whatever follows.  It is
kept by the applicative operations, so that a struct is decoded from the words of its fields, one
after another.
-/
import GoatCoin.Lib.Evm
import GoatCoin.Lib.Reader

namespace Abi

open Evm Wire

def word : Split Nat := (fun bs => ofLE bs.reverse) <$> Split.take 32

/-- A word that fits the type. -/
def uint (w : Nat) : Split (Word w) := do
  let n ← word
  if h : n < 2 ^ w then return ⟨n, h⟩ else failure

/-- A dynamic member of a tuple. -/
def dynamic {α : Type} (tuple : List UInt8) (member : List UInt8 → Option α) : Split α := do
  let offset ← uint 64
  if offset.val ≤ tuple.length then StateT.lift (member (tuple.drop offset.val)) else failure

def byteString (block : List UInt8) : Option (List UInt8) := do
  let (length, data) ← uint 64 block
  if length.val ≤ data.length then some (data.take length.val) else none

/-! ## What is taken -/

def Takes {α : Type} (p : Split α) (bs : List UInt8) (a : α) : Prop :=
  ∀ rest, p (bs ++ rest) = some (a, rest)

section
variable {α β : Type} {p : Split α} {bs cs : List UInt8} {a : α}

theorem Takes.map (h : Takes p bs a) (f : α → β) : Takes (f <$> p) bs (f a) := by
  intro rest
  show (p (bs ++ rest)).bind (fun s => some (f s.1, s.2)) = _
  rw [h rest]
  rfl

theorem Takes.seq {q : Split (α → β)} {f : α → β} (hq : Takes q bs f) (hp : Takes p cs a) :
    Takes (q <*> p) (bs ++ cs) (f a) := by
  intro rest
  rw [List.append_assoc]
  show (q (bs ++ (cs ++ rest))).bind (fun s => ((s.1 <$> p) : Split β) s.2) = _
  rw [hq]
  exact hp.map f rest

theorem Takes.run (h : Takes p bs a) (rest : List UInt8) : p.run' (bs ++ rest) = some a := by
  show (p (bs ++ rest)).map Prod.fst = some a
  rw [h rest]
  rfl

theorem takes_word {n : Nat} (h : n < 2 ^ 256) : Takes word (toBE 32 n) n := by
  intro rest
  have hlong : ¬ (toBE 32 n ++ rest).length < 32 := by
    rw [List.length_append, length_toBE]
    omega
  have htake : Split.take 32 (toBE 32 n ++ rest) = some (toBE 32 n, rest) := by
    rw [Split.take, if_neg hlong, List.splitAt_eq, List.take_left' (length_toBE 32 n),
      List.drop_left' (length_toBE 32 n)]
  show (Split.take 32 (toBE 32 n ++ rest)).bind (fun s => some (ofLE s.1.reverse, s.2)) = _
  rw [htake]
  show some (ofLE (toLE 32 n).reverse.reverse, rest) = _
  rw [List.reverse_reverse, ofLE_toLE 32 n (h.trans_le (by decide))]

theorem takes_uint {w : Nat} (hw : w ≤ 256) (x : Word w) : Takes (uint w) (toBE 32 x.val) x := by
  intro rest
  have hfits : x.val < 2 ^ 256 := x.isLt.trans_le (Nat.pow_le_pow_right (by decide) hw)
  rw [uint, Split.bind_of (takes_word hfits rest), dif_pos x.isLt]
  rfl

/-- **A member that is where its offset points.** -/
theorem takes_dynamic {tuple : List UInt8} {member : List UInt8 → Option α} {head tail : List UInt8}
    (htuple : tuple = head ++ tail) (hlt : head.length < 2 ^ 64) (hmember : member tail = some a) :
    Takes (dynamic tuple member) (toBE 32 head.length) a := by
  intro rest
  have hle : head.length ≤ tuple.length := by
    rw [htuple, List.length_append]
    exact Nat.le_add_right _ _
  rw [dynamic, Split.bind_of (takes_uint (by decide) (⟨head.length, hlt⟩ : Word 64) rest),
    if_pos hle, htuple, List.drop_left]
  show (member tail).bind (fun a => some (a, rest)) = _
  rw [hmember]
  rfl

theorem bytes_append {data : List UInt8} (h : data.length < 2 ^ 64) (rest : List UInt8) :
    byteString (toBE 32 data.length ++ (data ++ rest)) = some data := by
  have hle : data.length ≤ (data ++ rest).length := by
    rw [List.length_append]
    exact Nat.le_add_right _ _
  unfold byteString
  rw [takes_uint (by decide) (⟨data.length, h⟩ : Word 64) (data ++ rest)]
  show (if data.length ≤ (data ++ rest).length then some ((data ++ rest).take data.length)
    else none) = _
  rw [if_pos hle, List.take_left]

end

end Abi
