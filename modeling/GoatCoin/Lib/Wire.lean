/-
# `GoatCoin.Lib.Wire` — byte strings that can be read back

A wire format is an encoder `enc : α → List UInt8`.  Two strengths of "the bytes
determine the value" are needed and they are not the same:

    injective         enc a = enc b            ⟹  a = b
    self-delimiting   enc a ++ s = enc b ++ t  ⟹  a = b and s = t

Only the second is closed under concatenation, so records are handled by the
second and the first is read off at the end.  A self-delimiting encoder is one
whose image is prefix-free *and* whose values are recovered from the prefix.

The base cases are the fixed-width encoders (all images of one length, and
injective) and the little-endian words; the only recursive case is a list
whose length is known.
-/
import Mathlib.Data.List.Basic
import Mathlib.Data.Vector.Basic
import Mathlib.Tactic.Ring

namespace Wire

/-! ## Little-endian words -/

/-- The `k` low-order bytes of `n`, least significant first. -/
def toLE : Nat → Nat → List UInt8
  | 0, _ => []
  | k + 1, n => UInt8.ofNat n :: toLE k (n / 256)

/-- The number a little-endian byte string stands for. -/
def ofLE : List UInt8 → Nat
  | [] => 0
  | b :: bs => b.toNat + 256 * ofLE bs

@[simp] theorem length_toLE : ∀ (k n : Nat), (toLE k n).length = k
  | 0, _ => rfl
  | k + 1, n => by simp [toLE, length_toLE k]

theorem ofLE_toLE : ∀ (k n : Nat), n < 256 ^ k → ofLE (toLE k n) = n
  | 0, n, h => by
      have : n = 0 := by simpa using h
      subst this; rfl
  | k + 1, n, h => by
      have hq : n / 256 < 256 ^ k := by
        rw [Nat.div_lt_iff_lt_mul (by norm_num)]
        rwa [pow_succ] at h
      simp only [toLE, ofLE, ofLE_toLE k (n / 256) hq, UInt8.toNat_ofNat']
      omega

theorem ofLE_lt : ∀ bs : List UInt8, ofLE bs < 256 ^ bs.length
  | [] => by simp [ofLE]
  | b :: bs => by
      have hb : b.toNat < 256 := UInt8.toNat_lt b
      have hbs := ofLE_lt bs
      simp only [ofLE, List.length_cons, pow_succ]
      omega

theorem toLE_ofLE : ∀ bs : List UInt8, toLE bs.length (ofLE bs) = bs
  | [] => rfl
  | b :: bs => by
      have hb : b.toNat < 256 := UInt8.toNat_lt b
      have hdiv : (b.toNat + 256 * ofLE bs) / 256 = ofLE bs := by omega
      have hmod : UInt8.ofNat (b.toNat + 256 * ofLE bs) = b := by
        apply UInt8.toNat_inj.mp
        rw [UInt8.toNat_ofNat']
        omega
      simp only [List.length_cons, ofLE, toLE, hdiv, hmod, toLE_ofLE bs]

theorem toLE_inj {k m n : Nat} (hm : m < 256 ^ k) (hn : n < 256 ^ k)
    (h : toLE k m = toLE k n) : m = n := by
  rw [← ofLE_toLE k m hm, ← ofLE_toLE k n hn, h]

theorem toLE_add {k n : Nat} (h : n < 256 ^ k) (j : Nat) :
    toLE (k + j) n = toLE k n ++ List.replicate j 0 := by
  induction k generalizing n with
  | zero =>
      have hzero : n = 0 := by simpa using h
      subst hzero
      rw [Nat.zero_add, toLE, List.nil_append]
      induction j with
      | zero => rfl
      | succ j ih =>
          rw [toLE, List.replicate_succ, ih]
          rfl
  | succ k ih =>
      have hdiv : n / 256 < 256 ^ k := by
        rw [Nat.div_lt_iff_lt_mul (by norm_num)]
        rwa [pow_succ] at h
      rw [Nat.add_right_comm, toLE, toLE, ih hdiv, List.cons_append]

/-- The `k` low-order bytes of `n`, most significant first. -/
def toBE (k n : Nat) : List UInt8 := (toLE k n).reverse

@[simp] theorem length_toBE (k n : Nat) : (toBE k n).length = k := by
  rw [toBE, List.length_reverse, length_toLE]

theorem toBE_add {k n : Nat} (h : n < 256 ^ k) (j : Nat) :
    toBE (k + j) n = List.replicate j 0 ++ toBE k n := by
  rw [toBE, toLE_add h, List.reverse_append, List.reverse_replicate, toBE]

/-! ## Self-delimiting encoders -/

section
variable {α : Type}

/-- The value and what follows it are both recovered from the bytes. -/
def SelfDelimiting (enc : α → List UInt8) : Prop :=
  ∀ ⦃a b : α⦄ ⦃s t : List UInt8⦄, enc a ++ s = enc b ++ t → a = b ∧ s = t

theorem SelfDelimiting.injective {enc : α → List UInt8} (h : SelfDelimiting enc) :
    Function.Injective enc := by
  intro a b hab
  exact (h (s := []) (t := []) (by rw [hab])).1

theorem SelfDelimiting.of_length {enc : α → List UInt8} {k : Nat}
    (hlen : ∀ a, (enc a).length = k) (hinj : Function.Injective enc) :
    SelfDelimiting enc := by
  intro a b s t h
  obtain ⟨hab, hst⟩ := List.append_inj h (by rw [hlen, hlen])
  exact ⟨hinj hab, hst⟩

theorem selfDelimiting_le {k : Nat} {f : α → Nat} (hf : Function.Injective f)
    (hlt : ∀ a, f a < 256 ^ k) : SelfDelimiting (fun a => toLE k (f a)) :=
  .of_length (fun _ => length_toLE _ _)
    (fun a b h => hf (toLE_inj (hlt a) (hlt b) h))

theorem selfDelimiting_vector (n : Nat) :
    SelfDelimiting (fun v : List.Vector UInt8 n => v.toList) :=
  .of_length (fun v => v.toList_length) (fun _ _ h => List.Vector.eq _ _ h)

/-! ## Lists -/

/-- Elements one after another, with nothing between them. -/
def concat (enc : α → List UInt8) (l : List α) : List UInt8 := l.flatMap enc

@[simp] theorem concat_nil (enc : α → List UInt8) : concat enc [] = [] := rfl

@[simp] theorem concat_cons (enc : α → List UInt8) (a : α) (l : List α) :
    concat enc (a :: l) = enc a ++ concat enc l := rfl

theorem concat_inj {enc : α → List UInt8} (h : SelfDelimiting enc) :
    ∀ {l m : List α} {s t : List UInt8}, l.length = m.length →
      concat enc l ++ s = concat enc m ++ t → l = m ∧ s = t
  | [], [], s, t, _, he => ⟨rfl, he⟩
  | a :: l, b :: m, s, t, hlen, he => by
      simp only [concat_cons, List.append_assoc] at he
      obtain ⟨hab, he⟩ := h he
      obtain ⟨hlm, hst⟩ := concat_inj h (Nat.succ.inj hlen) he
      exact ⟨by rw [hab, hlm], hst⟩

theorem length_concat_le {enc : α → List UInt8} {w : Nat} (hw : ∀ a, (enc a).length ≤ w) :
    ∀ l : List α, (concat enc l).length ≤ l.length * w
  | [] => by simp
  | a :: l => by
      have ha := hw a
      have hl := length_concat_le hw l
      simp only [concat_cons, List.length_append, List.length_cons, Nat.add_mul, one_mul]
      omega

end

end Wire
