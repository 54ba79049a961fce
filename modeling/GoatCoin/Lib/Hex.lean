/-
# `GoatCoin.Lib.Hex` — bytes as hexadecimal text

A byte is written as two digits, the high half first and the letters in lower case.  What is read
back may have letters of either case: the text is more than the bytes, and two texts can stand for
the same bytes.  Only what was written is read back one to one.
-/
import Mathlib.Data.List.Basic

namespace Hex

/-- A digit of `0`–`9`, `a`–`f`. -/
def digit (n : Nat) : Char := Char.ofNat (if n < 10 then 48 + n else 87 + n)

/-- The value of a digit, with letters of either case. -/
def value (c : Char) : Option Nat :=
  if 48 ≤ c.toNat ∧ c.toNat ≤ 57 then some (c.toNat - 48)
  else if 97 ≤ c.toNat ∧ c.toNat ≤ 102 then some (c.toNat - 87)
  else if 65 ≤ c.toNat ∧ c.toNat ≤ 70 then some (c.toNat - 55)
  else none

def encode (bs : List UInt8) : List Char :=
  bs.flatMap fun b => [digit (b.toNat / 16), digit (b.toNat % 16)]

/-- Two digits to a byte; what is left over, or is no digit, is refused. -/
def decode : List Char → Option (List UInt8)
  | [] => some []
  | [_] => none
  | hi :: lo :: rest => do
      let h ← value hi
      let l ← value lo
      let bs ← decode rest
      pure (UInt8.ofNat (16 * h + l) :: bs)

theorem value_digit : ∀ n, n < 16 → value (digit n) = some n := by decide

theorem byte_eq (b : UInt8) : UInt8.ofNat (16 * (b.toNat / 16) + b.toNat % 16) = b := by
  rw [Nat.div_add_mod, UInt8.ofNat_toNat]

theorem decode_encode (bs : List UInt8) : decode (encode bs) = some bs := by
  induction bs with
  | nil => rfl
  | cons b bs ih =>
      have hb := b.toNat_lt
      have hhigh := value_digit (b.toNat / 16) (by omega)
      have hlow := value_digit (b.toNat % 16) (Nat.mod_lt _ (by decide))
      rw [encode, List.flatMap_cons, ← encode, List.cons_append, List.cons_append, List.nil_append,
        decode, hhigh, hlow, ih]
      exact congrArg (fun c => some (c :: bs)) (byte_eq b)

theorem encode_injective : Function.Injective encode := by
  intro as bs h
  have hdecoded := decode_encode as
  rw [h, decode_encode] at hdecoded
  exact (Option.some.inj hdecoded).symm

end Hex
